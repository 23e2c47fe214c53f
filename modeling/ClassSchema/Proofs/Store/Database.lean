import ClassSchema.Proofs.Schema.Columns
import ClassSchema.Proofs.Schema.Document
import ClassSchema.Proofs.Store.Engine
import ClassSchema.Proofs.Store.Session

/-
# What a database does

Here the laws of an engine are turned into what a database shows and does, and nothing later looks
at a script.  What a database shows depends on the contents of its engine alone.  What it does with
a request is one of five things (`Replies`): validation rejects the request, or a script for it is
refused, the first one or, of a relation with identifiers, the second, or all of them are taken.

All this holds as long as both catalogs are stored (`Opened`).  They are when a database has been
connected (`opened_of_connect`), and no request changes it (`Opened.after`).
-/

namespace ClassSchema.Database

open Schema OrderedMap Engine

variable {δ : Type} [Engine δ] [LawfulEngine δ]

/-- What a database holds. -/
def contents (d : Database δ) : Contents := LawfulEngine.contents d.engine

/-- Both catalogs are stored. -/
def Opened (d : Database δ) : Prop :=
  ∀ n, isCatalog n = true → d.contents.stored.contains n = true

variable {d d' : Database δ} {q : Request} {a : Except SchemaError Unit} {n : String}

/-! ### What is shown -/

omit [LawfulEngine δ] in
lemma query_of_rows {script : Script} {rows : List ResultRow}
    (h : (run d.engine script).1 = some rows) : d.query script = rows := by
  rw [query, h, Option.getD_some]

lemma storedNames_perm (d : Database δ) : d.storedNames.Perm d.contents.stored.keys := by
  obtain ⟨rows, hrows, hperm⟩ := LawfulEngine.relations d.engine
  rwa [storedNames, query_of_rows hrows]

lemma mem_storedNames : n ∈ d.storedNames ↔ d.contents.stored.contains n = true :=
  d.storedNames_perm.mem_iff.trans mem_keys_iff

lemma mem_relationNames :
    n ∈ d.relationNames ↔ d.contents.stored.contains n = true ∧ isCatalog n = false := by
  rw [relationNames, List.mem_filter, mem_storedNames, Bool.not_eq_true']

lemma nodup_relationNames (d : Database δ) : d.relationNames.Nodup :=
  (d.storedNames_perm.nodup_iff.2 d.contents.stored.nodup_keys).filter _

lemma hasRelation_eq_true_iff :
    d.hasRelation n = true ↔ d.contents.stored.contains n = true ∧ isCatalog n = false := by
  rw [hasRelation, decide_eq_true_eq, mem_relationNames]

/-- The catalogs are hidden. -/
lemma hasRelation_of_isCatalog (hn : isCatalog n = true) : d.hasRelation n = false := by
  rw [Bool.eq_false_iff, ne_eq, hasRelation_eq_true_iff, hn]
  simp

omit [LawfulEngine δ] in
lemma columns?_of_hasRelation_eq_false (h : d.hasRelation n = false) : d.columns? n = none := by
  rw [columns?, h]
  rfl

lemma columns?_of_get? {r : StoredRelation} (h : d.contents.stored.get? n = some r)
    (hn : isCatalog n = false) : d.columns? n = some r.columns := by
  obtain ⟨rows, hrows, hcolumns⟩ := LawfulEngine.columns h
  have hthere : d.hasRelation n = true :=
    hasRelation_eq_true_iff.2 ⟨contains_iff.2 ⟨r, h⟩, hn⟩
  rw [columns?, if_pos hthere, query_of_rows hrows, hcolumns]

namespace Opened

variable (h : d.Opened)

include h

lemma identifierCatalog_stored : d.contents.stored.contains identifierCatalog = true :=
  h _ (by simp [isCatalog])

lemma constraintCatalog_stored : d.contents.stored.contains constraintCatalog = true :=
  h _ (by simp [isCatalog])

lemma hasConstraint_eq (n : String) : d.hasConstraint n = d.contents.constraintRows.contains n := by
  obtain ⟨rows, hrows, hempty⟩ := LawfulEngine.constraintLookup h.constraintCatalog_stored n
  rw [hasConstraint, query_of_rows hrows, Bool.eq_iff_iff, Bool.not_eq_true',
    ← Bool.not_eq_true, List.isEmpty_iff, hempty, Bool.not_eq_false]
  rfl

lemma constraintNames_perm : d.constraintNames.Perm d.contents.constraintRows.keys := by
  obtain ⟨rows, hrows, hperm⟩ := LawfulEngine.constraintNames h.constraintCatalog_stored
  rwa [constraintNames, query_of_rows hrows]

/-- A constraint is read from its row. -/
lemma constraint?_eq (n : String) : d.constraint? n =
    match d.contents.constraintRows.get? n with
    | none => .ok none
    | some row =>
      match Json.Decoder.document readConstraint row.definition with
      | .ok c => .ok (some c)
      | .error _ => .error .refused := by
  obtain ⟨rows, hrows, hcolumn⟩ := LawfulEngine.constraintDefinition h.constraintCatalog_stored n
  rw [constraint?, query_of_rows hrows, hcolumn, contents]
  cases (LawfulEngine.contents d.engine).constraintRows.get? n <;> rfl

/-- Identifiers are put together again from the rows of the relation. -/
lemma identifiers_eq (n : String) : d.identifiers n =
    (d.contents.identifierRows.entries.filter fun row => row.1.relation == n).foldl
      (fun groups row => extendGroups groups (UInt32.ofInt row.1.number) row.2) .empty := by
  rw [identifiers, query_of_rows (LawfulEngine.identifiers h.identifierCatalog_stored n),
    List.filterMap_map, contents]
  have hmember : (member? ∘ fun row : IdentifierPlace × String =>
      [Cell.number row.1.number, .number row.1.position, .text row.2]) =
      some ∘ fun row => (UInt32.ofInt row.1.number, row.2) := rfl
  rw [hmember, List.filterMap_eq_map, List.foldl_map]

end Opened

/-! ### Running scripts -/

section

variable {script : Script} {rest : List Script}

omit [LawfulEngine δ] in
lemma runAll_of_takes (h : Takes d.engine script) :
    d.runAll (script :: rest) = runAll { d with engine := next d.engine script } rest := by
  rw [runAll, next]
  split
  next heq => rw [heq]
  next heq =>
    refine absurd ?_ h
    rw [heq]

omit [LawfulEngine δ] in
lemma runAll_of_refused (h : ¬ Takes d.engine script) :
    d.runAll (script :: rest) = (.error .refused, { d with engine := next d.engine script }) := by
  rw [runAll, next]
  split
  next heq =>
    refine absurd ?_ h
    rw [Takes, heq]
    simp
  next heq => rw [heq]

end

/-! ### Creating a relation -/

/-- What the statement for a relation makes of contents.  The name has been free, and what is stored
stays.  If the name is an identifier the relation is stored; if the names of the columns are
identifiers too, it is stored with these columns, and this is all. -/
structure Stores (IsName : String → Prop) (n : String) (r : StoredRelation) (c c' : Contents) :
    Prop where
  free : c.stored.contains n = false
  keeps : ∀ m, c.stored.contains m = true → c'.stored.contains m = true
  identifierRows_eq : c'.identifierRows = c.identifierRows
  constraintRows_eq : c'.constraintRows = c.constraintRows
  stores : IsName n → c'.stored.contains n = true
  stored_eq : IsName n → (∀ a ∈ r.key ++ r.rest, IsName a.name) →
    c'.stored = c.stored.insert n r

lemma stores_of_takes {e : δ} {r : StoredRelation}
    (h : Takes e ⟨createStatement n r.key r.rest, []⟩) :
    Stores (LawfulEngine.IsName δ) n r (LawfulEngine.contents e)
      (LawfulEngine.contents (next e ⟨createStatement n r.key r.rest, []⟩)) where
  free := by
    rw [Bool.eq_false_iff]
    exact fun hn => LawfulEngine.create_of_stored _ _ hn h
  keeps _ := LawfulEngine.create_keeps e n r.key r.rest
  identifierRows_eq := LawfulEngine.create_identifierRows ..
  constraintRows_eq := LawfulEngine.create_constraintRows ..
  stores hn := LawfulEngine.create_stores hn h
  stored_eq hn hcolumns := LawfulEngine.create_columns hn hcolumns h

lemma Stores.contents_eq {IsName : String → Prop} {r : StoredRelation} {c c' : Contents}
    (h : Stores IsName n r c c') (hn : IsName n) (hcolumns : ∀ a ∈ r.key ++ r.rest, IsName a.name) :
    c' = { c with stored := c.stored.insert n r } := by
  obtain ⟨stored, identifierRows, constraintRows⟩ := c'
  obtain rfl : stored = c.stored.insert n r := h.stored_eq hn hcolumns
  obtain rfl : identifierRows = c.identifierRows := h.identifierRows_eq
  obtain rfl : constraintRows = c.constraintRows := h.constraintRows_eq
  rfl

/-! ### Taking a database into use -/

/-- The catalogs as relations that are stored. -/
def catalogRelations : List (String × StoredRelation) :=
  [(identifierCatalog, ⟨[⟨"relation", .string⟩, ⟨"number", .int⟩, ⟨"position", .int⟩],
      [⟨"attribute", .string⟩]⟩),
    (constraintCatalog, ⟨[⟨"name", .string⟩],
      [⟨"kind", .string⟩, ⟨"definition", .string⟩]⟩)]

/-- The script that creates a relation, between line breaks. -/
def creation (e : String × StoredRelation) : Script :=
  ⟨"\n" ++ createStatement e.1 e.2.key e.2.rest ++ "\n", []⟩

lemma catalogs_eq : catalogs = catalogRelations.map fun e => (e.1, (creation e).text) := by
  decide +kernel

/-- All names in the catalogs are words. -/
lemma isWord_catalogRelations : ∀ e ∈ catalogRelations,
    isWord e.1 = true ∧ ∀ a ∈ e.2.key ++ e.2.rest, isWord a.name = true := by
  decide +kernel

lemma mem_catalogRelations_iff : n ∈ catalogRelations.map (·.1) ↔ isCatalog n = true := by
  rw [isCatalog, Bool.or_eq_true, beq_iff_eq, beq_iff_eq]
  simp [catalogRelations]

/-- Relations with words for names are all stored, if none of the scripts is refused. -/
lemma contents_of_runAll_creations {es : List (String × StoredRelation)}
    (hwords : ∀ e ∈ es, isWord e.1 = true ∧ ∀ a ∈ e.2.key ++ e.2.rest, isWord a.name = true)
    (h : d.runAll (es.map creation) = (.ok (), d')) :
    d'.contents =
      { d.contents with stored := es.foldl (fun m e => m.insert e.1 e.2) d.contents.stored } := by
  induction es generalizing d with
  | nil =>
    obtain rfl : d = d' := (Prod.mk.inj h).2
    rfl
  | cons e rest ih =>
    rw [List.forall_mem_cons] at hwords
    obtain ⟨⟨hname, hcolumns⟩, hrest⟩ := hwords
    rw [List.map_cons] at h
    by_cases htakes : Takes d.engine (creation e)
    · rw [runAll_of_takes htakes] at h
      -- the line breaks around the statement do not matter
      have hrun : run d.engine (creation e) =
          run d.engine ⟨createStatement e.1 e.2.key e.2.rest, []⟩ := LawfulEngine.run_framed ..
      rw [Takes, hrun] at htakes
      rw [next, hrun] at h
      have hstored := (stores_of_takes htakes).contents_eq (LawfulEngine.isName_of_isWord hname)
        fun a ha => LawfulEngine.isName_of_isWord (hcolumns a ha)
      have hmid := ih hrest h
      rw [contents] at hmid
      exact hmid.trans (by rw [contents, ← next, hstored]; rfl)
    · rw [runAll_of_refused htakes] at h
      cases h

/-- The catalogs that are not stored. -/
def absentCatalogs (c : Contents) : List (String × StoredRelation) :=
  catalogRelations.filter fun e => !c.stored.contains e.1

lemma missingCatalogs_eq (d : Database δ) :
    d.missingCatalogs = (absentCatalogs d.contents).map creation := by
  have hmissing : (fun e : String × String => decide (e.1 ∉ d.storedNames)) =
      fun e => !d.contents.stored.contains e.1 := by
    funext e
    rw [Bool.eq_iff_iff]
    simp [mem_storedNames]
  rw [missingCatalogs, hmissing, catalogs_eq, List.filter_map, List.map_map]
  rfl

/-- A database that has been taken into use has got the catalogs that had not been there, and
nothing else. -/
theorem contents_of_connect {medium : Medium} {engine : δ} (h : connect medium engine = .ok d) :
    d.contents = { LawfulEngine.contents engine with
      stored := (absentCatalogs (LawfulEngine.contents engine)).foldl
        (fun m e => m.insert e.1 e.2) (LawfulEngine.contents engine).stored } := by
  rw [connect, missingCatalogs_eq] at h
  split at h
  next hrun =>
    obtain rfl := Except.ok.inj h
    exact contents_of_runAll_creations
      (fun e he => isWord_catalogRelations e (List.mem_of_mem_filter he)) hrun
  next => cases h

/-- Whatever an engine's database has held, both catalogs are stored when it has been taken into
use. -/
theorem opened_of_connect {medium : Medium} {engine : δ} (h : connect medium engine = .ok d) :
    d.Opened := by
  intro n hn
  obtain ⟨e, he, rfl⟩ := List.mem_map.1 (mem_catalogRelations_iff.2 hn)
  rw [contents_of_connect h, contains_foldl_insert_iff]
  by_cases hthere : (LawfulEngine.contents engine).stored.contains e.1 = true
  · exact .inl hthere
  · exact .inr (List.mem_map_of_mem (List.mem_filter.2 ⟨he, by simpa using hthere⟩))

/-- A database in which there is nothing but the catalogs, without rows in them. -/
structure IsNew (d : Database δ) : Prop where
  stored_iff : ∀ n, d.contents.stored.contains n = true ↔ isCatalog n = true
  identifierRows_eq : d.contents.identifierRows = .empty
  constraintRows_eq : d.contents.constraintRows = .empty

lemma IsNew.opened (h : d.IsNew) : d.Opened := fun n => (h.stored_iff n).2

/-- What has been an empty database of an engine is new when it has been taken into use. -/
theorem isNew_of_connect {medium : Medium} {engine : δ}
    (hempty : LawfulEngine.contents engine = .empty) (h : connect medium engine = .ok d) :
    d.IsNew := by
  have hcontents := contents_of_connect h
  have habsent : absentCatalogs .empty = catalogRelations := List.filter_eq_self.2 fun _ _ => rfl
  rw [hempty, habsent] at hcontents
  refine ⟨fun n => ?_, by rw [hcontents]; rfl, by rw [hcontents]; rfl⟩
  rw [hcontents, contains_foldl_insert_iff, ← mem_catalogRelations_iff]
  exact or_iff_right (by simp [Contents.empty, contains])

/-! ### Requests -/

/-- The row of a constraint in the catalog of constraints. -/
def rowOf (k : Constraint) : ConstraintRow := ⟨k.kind.name, k.definition⟩

/-- What becomes of contents by the statement for a relation. -/
abbrev Created (δ : Type) [Engine δ] [LawfulEngine δ] (r : Relation) (c c' : Contents) : Prop :=
  Stores (LawfulEngine.IsName δ) r.name ⟨r.keyAttributes, r.valueAttributes⟩ c c'

/-- The relation and all its attributes have identifiers of the engine for names. -/
def Plain (δ : Type) [Engine δ] [LawfulEngine δ] (r : Relation) : Prop :=
  LawfulEngine.IsName δ r.name ∧ ∀ a ∈ r.attributes, LawfulEngine.IsName δ a.name

lemma plain_of_isWord {r : Relation}
    (h : isWord r.name = true ∧ ∀ a ∈ r.attributes, isWord a.name = true) : Plain δ r :=
  ⟨LawfulEngine.isName_of_isWord h.1, fun a ha => LawfulEngine.isName_of_isWord (h.2 a ha)⟩

/-- Such a relation is stored as it is. -/
lemma Plain.stored_eq {r : Relation} {c c' : Contents} (h : Plain δ r)
    (created : Created δ r c c') :
    c'.stored = c.stored.insert r.name ⟨r.keyAttributes, r.valueAttributes⟩ := by
  refine created.stored_eq h.1 fun a ha => h.2 a ?_
  rcases List.mem_append.1 ha with ha | ha
  · exact Relation.mem_attributes_of_mem_key ha
  · exact Relation.mem_attributes_of_mem_value ha

/-- What a database may answer to a request, and what it holds afterwards.  A relation takes two
scripts, one that creates it and one for the rows of its identifiers, so the second may be refused
when the first has been taken. -/
inductive Replies (d d' : Database δ) : Request → Except SchemaError Unit → Prop
  | rejected {q : Request} {e : SchemaError} (check : d.view.check q = .error e) (same : d' = d) :
      Replies d d' q (.error e)
  | refused {q : Request} (check : d.view.check q = .ok ()) (same : d'.contents = d.contents) :
      Replies d d' q (.error .refused)
  | unrecorded {r : Relation} (check : d.view.check (.relation r) = .ok ())
      (created : Created δ r d.contents d'.contents) :
      Replies d d' (.relation r) (.error .refused)
  | relation {r : Relation} {c : Contents} (check : d.view.check (.relation r) = .ok ())
      (created : Created δ r d.contents c) (recorded : d'.contents = c.putIdentifiers (rowsOf r)) :
      Replies d d' (.relation r) (.ok ())
  | constraint {k : Constraint} (check : d.view.check (.constraint k) = .ok ())
      (recorded : d'.contents = d.contents.putConstraint k.name (rowOf k)) :
      Replies d d' (.constraint k) (.ok ())

lemma replies_relation {r : Relation} (check : d.view.check (.relation r) = .ok ()) :
    Replies d (d.runAll (scripts (.relation r))).2 (.relation r)
      (d.runAll (scripts (.relation r))).1 := by
  rw [scripts]
  by_cases hcreate : Takes d.engine ⟨r.ddl, []⟩
  · have created : Created δ r d.contents (LawfulEngine.contents (next d.engine ⟨r.ddl, []⟩)) :=
      stores_of_takes hcreate
    rw [runAll_of_takes hcreate]
    by_cases hrows : (rowsOf r).isEmpty = true
    · rw [if_pos hrows]
      refine .relation check created ?_
      rw [List.isEmpty_iff.1 hrows]
      rfl
    · rw [if_neg hrows]
      by_cases hput : Takes (next d.engine ⟨r.ddl, []⟩) (identifierScript (rowsOf r))
      · rw [runAll_of_takes hput]
        exact .relation check created (LawfulEngine.put_identifiers hput)
      · rw [runAll_of_refused hput]
        refine .unrecorded check ?_
        change Created δ r d.contents (LawfulEngine.contents (next _ _))
        rwa [LawfulEngine.refused hput]
  · rw [runAll_of_refused hcreate]
    exact .refused check (LawfulEngine.refused hcreate)

lemma replies_constraint {k : Constraint} (check : d.view.check (.constraint k) = .ok ()) :
    Replies d (d.runAll (scripts (.constraint k))).2 (.constraint k)
      (d.runAll (scripts (.constraint k))).1 := by
  rw [scripts]
  by_cases hput : Takes d.engine (constraintScript k.name k.kind.name k.definition)
  · rw [runAll_of_takes hput]
    exact .constraint check (LawfulEngine.put_constraint hput)
  · rw [runAll_of_refused hput]
    exact .refused check (LawfulEngine.refused hput)

/-- These are all the ways in which a database answers. -/
theorem replies (d : Database δ) (q : Request) :
    Replies d (Store.after d q) q (Store.answer d q) := by
  cases hcheck : d.view.check q with
  | error e =>
    have hcheck' : (Store.view d).check q = .error e := hcheck
    rw [Store.answer_of_check_error hcheck', Store.after_of_check_error hcheck']
    exact .rejected hcheck rfl
  | ok _ =>
    have hrespond : Store.respond d q = d.runAll (scripts q) := Store.respond_of_check_ok hcheck
    rw [Store.answer, Store.after, hrespond]
    cases q with
    | relation r => exact replies_relation hcheck
    | constraint k => exact replies_constraint hcheck

/-! ### What is stored stays -/

/-- No request takes a stored relation away. -/
lemma Replies.contains_stored (h : Replies d d' q a) (hn : d.contents.stored.contains n = true) :
    d'.contents.stored.contains n = true := by
  cases h with
  | rejected _ same => rwa [same]
  | refused _ same => rwa [same]
  | unrecorded _ created => exact created.keeps n hn
  | relation _ created recorded =>
    rw [recorded]
    exact created.keeps n hn
  | constraint _ recorded =>
    rw [recorded]
    exact hn

lemma Opened.after (h : d.Opened) (q : Request) : (Store.after d q).Opened :=
  fun n hn => (d.replies q).contains_stored (h n hn)

/-- Whatever it has been asked, a database keeps its catalogs. -/
theorem Opened.afterAll (h : d.Opened) (qs : List Request) : (Store.afterAll d qs).Opened :=
  Store.afterAll_induction (fun _ q h => h.after q) h qs

end ClassSchema.Database
