import ClassSchema.Proofs.Store.Database
import ClassSchema.Proofs.Store.Integrity
import ClassSchema.Proofs.Store.Listing
import ClassSchema.Proofs.Store.Tables

/-
# A database agrees with a catalog

A database keeps of a relation the columns, those of the key first, and of a constraint the text of
its definition, and hides two relations of its own.  All the same it cannot be told from a catalog
by the requests that it accepts and by what it shows, as long as no script is refused and all
relations that are accepted have identifiers for their names and columns (`sessions_agree`).

Without the last condition it can be told.  Names are put into a script as they are, and a name that
goes on like the script makes two columns out of one attribute (`exists_sessions_differ`).

The two are in step when the database holds, under each name that is not hidden, what it would
make of what the catalog holds there (`Database.Holds`).  Then their views differ at most in the
order of columns, which no check depends on (`View.Alike.check_eq`), and an accepted request keeps
them in step.
-/

namespace ClassSchema

open Schema OrderedMap Outcome

/-! ### Views that show the same -/

namespace Schema

/-- Two views show the same, up to the order of columns. -/
structure View.Alike (v w : View) : Prop where
  hasRelation_eq : ∀ n, v.hasRelation n = w.hasRelation n
  columns_perm : ∀ n, Option.Rel List.Perm (v.columns? n) (w.columns? n)
  hasConstraint_eq : ∀ n, v.hasConstraint n = w.hasConstraint n

lemma checkNames_eq_of_perm {columns columns' : List String} (h : columns.Perm columns')
    (relation : String) (names : List String) :
    checkNames relation columns names = checkNames relation columns' names := by
  have hmem : (fun n => decide (n ∉ columns)) = fun n => decide (n ∉ columns') := by
    funext n
    simp [h.mem_iff]
  rw [checkNames, checkNames, hmem]

namespace View.Alike

variable {v w : View}

lemma checkReference_eq (h : v.Alike w) (relation : String) (names : List String) :
    v.checkReference relation names = w.checkReference relation names := by
  have hperm := h.columns_perm relation
  rw [checkReference, checkReference]
  cases hv : v.columns? relation with
  | none =>
    cases hw : w.columns? relation with
    | none => rfl
    | some columns' => rw [hv, hw] at hperm; cases hperm
  | some columns =>
    cases hw : w.columns? relation with
    | none => rw [hv, hw] at hperm; cases hperm
    | some columns' =>
      rw [hv, hw] at hperm
      exact checkNames_eq_of_perm (Option.rel_some_some.1 hperm) relation names

lemma checkNew_eq (h : v.Alike w) (constraint : String) :
    v.checkNew constraint = w.checkNew constraint := by
  rw [checkNew, checkNew, h.hasConstraint_eq]

lemma checkEnd_eq (h : v.Alike w) (constraint relation : String) (e : CorrelationEnd) :
    v.checkEnd constraint relation e = w.checkEnd constraint relation e := by
  rw [checkEnd, checkEnd, h.checkReference_eq, h.checkReference_eq]

lemma checkSubclasses_eq (h : v.Alike w) (constraint : String) (superAttributes : List String)
    (subclasses : List (String × List String)) :
    v.checkSubclasses constraint superAttributes subclasses =
      w.checkSubclasses constraint superAttributes subclasses := by
  induction subclasses with
  | nil => rfl
  | cons e rest ih =>
    obtain ⟨relation, names⟩ := e
    rw [checkSubclasses, checkSubclasses, h.checkReference_eq, ih]

/-- Views that show the same reject the same requests, and for the same reason. -/
theorem check_eq (h : v.Alike w) (q : Request) : v.check q = w.check q := by
  cases q with
  | relation r =>
    rw [check, check, checkRelation, checkRelation, h.hasRelation_eq]
  | constraint k =>
    cases k with
    | association c =>
      rw [check, check, checkAssociation, checkAssociation, h.checkNew_eq, h.checkReference_eq,
        h.checkReference_eq]
    | correlation c =>
      rw [check, check, checkCorrelation, checkCorrelation, h.checkNew_eq, h.checkEnd_eq,
        h.checkEnd_eq]
    | partition c =>
      rw [check, check, checkPartition, checkPartition, h.checkNew_eq, h.checkReference_eq,
        h.checkSubclasses_eq]

end View.Alike

end Schema

/-! ### A database in step with a catalog -/

namespace Database

variable {δ : Type} [Engine δ] [LawfulEngine δ]

/-- Under each name that is not hidden the database holds what it makes of what the catalog holds
there. -/
structure Holds (d : Database δ) (c : Catalog) : Prop where
  opened : d.Opened
  stored_eq : ∀ n, isCatalog n = false → d.contents.stored.get? n =
    (c.relations.get? n).map fun r => ⟨r.keyAttributes, r.valueAttributes⟩
  hidden_free : ∀ n, isCatalog n = true → c.relations.get? n = none
  wellFormed : ∀ n r, c.relations.get? n = some r → r.WellFormed
  rows_eq : ∀ n, d.contents.constraintRows.get? n = (c.constraints.get? n).map rowOf

namespace Holds

variable {c c' : Catalog} {d d' : Database δ} {q : Request} {a : Except SchemaError Unit}

theorem of_isNew (h : d.IsNew) : d.Holds Catalog.empty where
  opened := h.opened
  stored_eq n hn := by
    refine contains_eq_false_iff.1 (Bool.eq_false_iff.2 fun hstored => ?_)
    cases hn.symm.trans ((h.stored_iff n).1 hstored)
  hidden_free _ _ := rfl
  wellFormed _ _ hn := by simp [Catalog.empty] at hn
  rows_eq n := by rw [h.constraintRows_eq]; rfl

lemma hasRelation_eq (h : d.Holds c) (n : String) :
    c.relations.contains n = d.hasRelation n := by
  rw [Bool.eq_iff_iff, hasRelation_eq_true_iff]
  cases hn : isCatalog n with
  | true => simp [contains, h.hidden_free n hn]
  | false => simp [contains, h.stored_eq n hn]

lemma columns_perm (h : d.Holds c) (n : String) :
    Option.Rel List.Perm (c.view.columns? n) (d.view.columns? n) := by
  change Option.Rel List.Perm ((c.relations.get? n).map Relation.columns) (d.columns? n)
  cases hr : c.relations.get? n with
  | none =>
    have habsent : d.hasRelation n = false := by rw [← h.hasRelation_eq, contains, hr]; rfl
    rw [columns?_of_hasRelation_eq_false habsent]
    exact .none
  | some r =>
    have hn : isCatalog n = false := by
      rw [Bool.eq_false_iff]
      intro hn
      simp [h.hidden_free n hn] at hr
    have hstored := h.stored_eq n hn
    rw [hr] at hstored
    rw [columns?_of_get? hstored hn]
    exact .some (h.wellFormed n r hr).columns_perm

/-- What the two show is the same. -/
lemma alike (h : d.Holds c) : c.view.Alike d.view where
  hasRelation_eq := h.hasRelation_eq
  columns_perm := h.columns_perm
  hasConstraint_eq n := by
    change c.constraints.contains n = d.hasConstraint n
    rw [h.opened.hasConstraint_eq, contains, contains, h.rows_eq, Option.isSome_map]

lemma add_relation (h : d.Holds c) {r : Relation} {stored : Contents} (hr : r.WellFormed)
    (hplain : Plain δ r) (created : Created δ r d.contents stored) (hopened : d'.Opened)
    (recorded : d'.contents = stored.putIdentifiers (rowsOf r)) :
    d'.Holds (c.add (.relation r)) := by
  have hstored : d'.contents.stored =
      d.contents.stored.insert r.name ⟨r.keyAttributes, r.valueAttributes⟩ := by
    rw [recorded]
    exact (hplain.stored_eq created :)
  have hrows : d'.contents.constraintRows = d.contents.constraintRows := by
    rw [recorded]
    exact created.constraintRows_eq
  -- a name that is hidden is stored, so it has not been free
  have hshown : isCatalog r.name = false := by
    rw [Bool.eq_false_iff]
    exact fun hhidden => Bool.false_ne_true (created.free.symm.trans (h.opened r.name hhidden))
  refine ⟨hopened, fun n hn => ?_, fun n hn => ?_, fun n r' hn => ?_, fun n => ?_⟩
  · rw [hstored]
    by_cases hne : n = r.name
    · subst hne
      simp
    · rw [Catalog.relations_add_relation, get?_insert_of_ne _ _ hne,
        get?_insert_of_ne _ _ hne, h.stored_eq n hn]
  · have hne : n ≠ r.name := by
      rintro rfl
      cases hn.symm.trans hshown
    rw [Catalog.relations_add_relation, get?_insert_of_ne _ _ hne, h.hidden_free n hn]
  · by_cases hne : n = r.name
    · subst hne
      obtain rfl : r = r' := by simpa using hn
      exact hr
    · rw [Catalog.relations_add_relation, get?_insert_of_ne _ _ hne] at hn
      exact h.wellFormed n r' hn
  · rw [hrows, Catalog.constraints_add_relation, h.rows_eq]

lemma add_constraint (h : d.Holds c) {k : Constraint} (hopened : d'.Opened)
    (recorded : d'.contents = d.contents.putConstraint k.name (rowOf k)) :
    d'.Holds (c.add (.constraint k)) := by
  have hstored : d'.contents.stored = d.contents.stored := by rw [recorded]; rfl
  refine ⟨hopened, fun n hn => ?_, h.hidden_free, h.wellFormed, fun n => ?_⟩
  · rw [hstored]
    exact h.stored_eq n hn
  · rw [recorded]
    change (d.contents.constraintRows.insert k.name _).get? n =
      ((c.constraints.insert k.name k).get? n).map _
    by_cases hne : n = k.name
    · subst hne
      simp
    · rw [get?_insert_of_ne _ _ hne, get?_insert_of_ne _ _ hne, h.rows_eq]

/-- A request keeps the two in step, and both answer the same, unless a script is refused. -/
lemma step (h : d.Holds c) (hreplies : Replies d d' q a) (htaken : a ≠ .error .refused)
    (hplain : ∀ r, (q, a) = (.relation r, .ok ()) → Plain δ r) :
    Store.answer c q = a ∧ d'.Holds (Store.after c q) := by
  have hcheck : (Store.view c).check q = d.view.check q := h.alike.check_eq q
  have hopened : d'.Opened := fun n hn => hreplies.contains_stored (h.opened n hn)
  have hadd (check : d.view.check q = .ok ()) :
      Store.answer c q = .ok () ∧ Store.after c q = c.add q := by
    have hcreate := Catalog.create_eq_ok_iff.2 ⟨hcheck.trans check, rfl⟩
    exact ⟨Store.answer_of_create_ok hcreate, Store.after_of_create_ok hcreate⟩
  cases hreplies with
  | rejected check same =>
    -- both find the request invalid, and for the same reason
    rw [Store.answer_of_check_error (hcheck.trans check),
      Store.after_of_check_error (hcheck.trans check), same]
    exact ⟨rfl, h⟩
  | refused _ _ => exact absurd rfl htaken
  | unrecorded _ _ => exact absurd rfl htaken
  | @relation r stored check created recorded =>
    obtain ⟨hanswer, hafter⟩ := hadd check
    rw [hafter]
    exact ⟨hanswer, h.add_relation (View.checkRelation_eq_ok_iff.1 check).2 (hplain r rfl) created
      hopened recorded⟩
  | constraint check recorded =>
    obtain ⟨hanswer, hafter⟩ := hadd check
    rw [hafter]
    exact ⟨hanswer, h.add_constraint hopened recorded⟩

lemma relationNames_perm (h : d.Holds c) : c.relations.keys.Perm d.relationNames := by
  refine (List.perm_ext_iff_of_nodup c.relations.nodup_keys d.nodup_relationNames).2 fun n => ?_
  rw [mem_keys_iff, h.hasRelation_eq, hasRelation, decide_eq_true_eq]

lemma constraintNames_perm (h : d.Holds c) : c.constraints.keys.Perm d.constraintNames := by
  refine List.Perm.trans ?_ h.opened.constraintNames_perm.symm
  refine (List.perm_ext_iff_of_nodup c.constraints.nodup_keys
    d.contents.constraintRows.nodup_keys).2 fun n => ?_
  rw [mem_keys_iff, mem_keys_iff, contains, contains, h.rows_eq, Option.isSome_map]

/-- The database reads the constraints that the catalog holds from their definitions. -/
lemma constraint?_eq (h : d.Holds c) (n : String) :
    d.constraint? n = .ok (c.constraints.get? n) := by
  rw [h.opened.constraint?_eq, h.rows_eq]
  cases c.constraints.get? n with
  | none => rfl
  | some k => simp only [Option.map_some, rowOf, document_definition_eq]

end Holds

end Database

/-! ### Agreement -/

section

variable {δ : Type} [Engine δ] [LawfulEngine δ]

/-- A catalog and a database show the same: the same names, columns up to their order, and the
same constraints. -/
structure Agree (c : Catalog) (d : Database δ) : Prop where
  hasRelation_eq : ∀ n, (Store.view c).hasRelation n = (Store.view d).hasRelation n
  hasConstraint_eq : ∀ n, (Store.view c).hasConstraint n = (Store.view d).hasConstraint n
  relationNames_eq : ∀ regex pattern,
    Store.relationNames regex c pattern = Store.relationNames regex d pattern
  constraintNames_eq : ∀ regex pattern,
    Store.constraintNames regex c pattern = Store.constraintNames regex d pattern
  columns_perm : ∀ n,
    Option.Rel List.Perm ((Store.view c).columns? n) ((Store.view d).columns? n)
  constraint_eq : ∀ n, d.constraint? n = .ok (c.constraints.get? n)

lemma Database.Holds.agree {c : Catalog} {d : Database δ} (h : d.Holds c) : Agree c d where
  hasRelation_eq := h.hasRelation_eq
  hasConstraint_eq := h.alike.hasConstraint_eq
  relationNames_eq _ pattern := Store.narrow_eq_of_perm h.relationNames_perm pattern
  constraintNames_eq _ pattern := Store.narrow_eq_of_perm h.constraintNames_perm pattern
  columns_perm := h.columns_perm
  constraint_eq := h.constraint?_eq

/-- In step from the beginning, a catalog and a database stay in step. -/
lemma Database.Holds.session {c : Catalog} {d : Database δ} (h : d.Holds c) {qs : List Request}
    (htaken : ∀ a ∈ Store.answers d qs, a ≠ .error .refused)
    (hplain : ∀ r, (.relation r, .ok ()) ∈ Store.trace d qs → Database.Plain δ r) :
    Store.answers c qs = Store.answers d qs ∧
      (Store.afterAll d qs).Holds (Store.afterAll c qs) := by
  induction qs generalizing c d with
  | nil => exact ⟨rfl, h⟩
  | cons q rest ih =>
    rw [Store.answers, List.forall_mem_cons] at htaken
    simp only [Store.trace_cons, List.mem_cons] at hplain
    obtain ⟨hanswer, hnext⟩ := h.step (d.replies q) htaken.1 fun r hr => hplain r (.inl hr.symm)
    obtain ⟨hanswers, hlast⟩ := ih hnext htaken.2 fun r hr => hplain r (.inr hr)
    refine ⟨?_, hlast⟩
    rw [Store.answers, Store.answers, hanswer, hanswers]

/-- **The stores agree.**  Let the empty database of any engine be taken into use, and be asked
whatever there is to ask.  If no script is refused, and the relations that are accepted have
identifiers for their names and columns, then a new catalog gives the same answers to the same
requests, and in the end the two show the same.  This holds at each moment, as what has been asked
so far is a session too. -/
theorem sessions_agree (medium : Medium) (engine : δ) (d : Database δ)
    (hempty : LawfulEngine.contents engine = .empty) (hd : Database.connect medium engine = .ok d)
    (qs : List Request) (htaken : ∀ a ∈ Store.answers d qs, a ≠ .error .refused)
    (hplain : ∀ r, (.relation r, .ok ()) ∈ Store.trace d qs → Database.Plain δ r) :
    Store.answers Catalog.empty qs = Store.answers d qs ∧
      Agree (Store.afterAll Catalog.empty qs) (Store.afterAll d qs) := by
  have hnew : d.IsNew := Database.isNew_of_connect hempty hd
  obtain ⟨hanswers, hholds⟩ := (Database.Holds.of_isNew hnew).session htaken hplain
  exact ⟨hanswers, hholds.agree⟩

end

/-- A session with two relations, one of which has its key in the middle, a constraint between
them, and the same constraint again, which is rejected. -/
def ownership : List Request :=
  let party : Relation :=
    ⟨"Party", [⟨"Region", .string⟩, ⟨"Number", .int⟩, ⟨"Name", .string⟩],
      .ofList [(2, ["Name"]), (1, ["Number"])]⟩
  let owner : Relation := ⟨"Owner", [⟨"Owner_name", .string⟩], .empty⟩
  let r1 : Association :=
    ⟨"R1", ⟨"Owner", ["Owner_name"], .zeroOrOne⟩, ⟨"Party", ["Name"], .atLeastOne⟩⟩
  [.relation party, .relation owner, .constraint (.association r1), .constraint (.association r1)]

theorem sessions_agree_ownership :
    Store.answers (⟨.memory, Tables.fresh⟩ : Database Tables) ownership =
      [.ok (), .ok (), .ok (), .error (.duplicateConstraint "R1")] ∧
    Store.answers Catalog.empty ownership =
      [.ok (), .ok (), .ok (), .error (.duplicateConstraint "R1")] ∧
    Agree (Store.afterAll Catalog.empty ownership)
      (Store.afterAll (⟨.memory, Tables.fresh⟩ : Database Tables) ownership) := by
  have hanswers : Store.answers (⟨.memory, Tables.fresh⟩ : Database Tables) ownership =
      [.ok (), .ok (), .ok (), .error (.duplicateConstraint "R1")] := by
    decide +kernel
  have hwords : ∀ r, .relation r ∈ ownership →
      isWord r.name = true ∧ ∀ a ∈ r.attributes, isWord a.name = true := by
    intro r hr
    simp only [ownership, List.mem_cons, List.not_mem_nil, or_false, Request.relation.injEq,
      reduceCtorEq] at hr
    rcases hr with rfl | rfl <;> decide +kernel
  have hplain : ∀ r, (.relation r, .ok ()) ∈
      Store.trace (⟨.memory, Tables.fresh⟩ : Database Tables) ownership →
        Database.Plain Tables r := by
    intro r hr
    exact Database.plain_of_isWord (hwords r (List.of_mem_zip hr).1)
  obtain ⟨hsame, hagree⟩ := sessions_agree .memory Tables.empty ⟨.memory, Tables.fresh⟩ rfl
    Tables.connect_empty ownership (by rw [hanswers]; decide) hplain
  exact ⟨hanswers, hsame.trans hanswers, hagree⟩

/-- A relation with one attribute, whose name goes on like the statement for the relation. -/
def tally : Relation := ⟨"T", [⟨"a: Int,\n    b", .string⟩], .empty⟩

/-- The stores need not agree: the statement for the relation is that for a relation with two
attributes. -/
theorem exists_sessions_differ :
    ∃ d : Database Tables, Database.connect .memory Tables.empty = .ok d ∧
      isCatalog tally.name = false ∧ tally.name.toList.head? ≠ some '_' ∧
      Store.answers d [.relation tally] = [.ok ()] ∧
      Store.answers Catalog.empty [.relation tally] = [.ok ()] ∧
      (Store.view (Store.afterAll Catalog.empty [.relation tally])).columns? "T" =
        some ["a: Int,\n    b"] ∧
      (Store.view (Store.afterAll d [.relation tally])).columns? "T" = some ["a", "b"] ∧
      tally.ddl = createStatement "T" [⟨"a", .int⟩, ⟨"b", .string⟩] [] := by
  refine ⟨_, Tables.connect_empty, ?_⟩
  decide +kernel

end ClassSchema
