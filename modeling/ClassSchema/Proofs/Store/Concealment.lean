import ClassSchema.Proofs.Store.Listing
import ClassSchema.Proofs.Store.Tables

/-
# The catalogs are out of reach

A database keeps its two catalogs among the relations that it stores, in one space of names with the
relations of the schema.  They are hidden from lists and from validation.  So a constraint that
names a catalog is rejected like one that names an unknown relation.  A relation of that name,
however, is found to be new, and nothing but the engine is in its way: the name is taken, so the
script is refused, and the rows of its identifiers are never written.

This rests on the catalogs being stored at every moment (`Opened.afterAll`).
-/

namespace ClassSchema

open Schema OrderedMap Outcome Text

namespace Database

variable {δ : Type} [Engine δ] [LawfulEngine δ] {d d' : Database δ} {q : Request}
  {a : Except SchemaError Unit} {n : String}

/-! ### What validation sees of a catalog -/

/-- Validation takes a relation with the name of a catalog for new. -/
lemma check_of_isCatalog {r : Relation} (hname : isCatalog r.name = true) (hr : r.WellFormed) :
    d.view.check (.relation r) = .ok () :=
  View.checkRelation_eq_ok_iff.2 ⟨hasRelation_of_isCatalog hname, hr⟩

/-- Validation knows no relation with the name of a catalog. -/
lemma exists_check_error_of_mentions {k : Constraint}
    (hk : ∃ x ∈ k.mentions, isCatalog x.1 = true) :
    ∃ e, d.view.check (.constraint k) = .error e := by
  obtain ⟨x, hx, hcatalog⟩ := hk
  cases hcheck : d.view.check (.constraint k) with
  | error e => exact ⟨e, rfl⟩
  | ok _ =>
    obtain ⟨-, hsupported, -⟩ := View.check_constraint_eq_ok_iff.1 hcheck
    obtain ⟨columns, hcolumns, -⟩ := hsupported x hx
    cases hcolumns.symm.trans
      (columns?_of_hasRelation_eq_false (hasRelation_of_isCatalog hcatalog))

/-! ### What stays the same -/

/-- A relation whose name is taken is refused, if validation has not rejected it, and nothing
changes in what is held. -/
lemma Replies.of_stored {r : Relation} (h : Replies d d' (.relation r) a)
    (hcheck : d.view.check (.relation r) = .ok ())
    (hr : d.contents.stored.contains r.name = true) :
    a = .error .refused ∧ d'.contents = d.contents := by
  cases h with
  | rejected he => cases he.symm.trans hcheck
  | refused _ same => exact ⟨rfl, same⟩
  | unrecorded _ created => cases hr.symm.trans created.free
  | relation _ created _ => cases hr.symm.trans created.free

/-- Two databases show the same. -/
structure ShowsSame (d d' : Database δ) : Prop where
  relationNames_eq : ∀ regex pattern,
    Store.relationNames regex d' pattern = Store.relationNames regex d pattern
  constraintNames_eq : ∀ regex pattern,
    Store.constraintNames regex d' pattern = Store.constraintNames regex d pattern
  identifiers_eq : ∀ n, d'.identifiers n = d.identifiers n
  constraint?_eq : ∀ n, d'.constraint? n = d.constraint? n

/-- What a database shows depends on what it holds. -/
lemma ShowsSame.of_contents_eq (hd : d.Opened) (same : d'.contents = d.contents) :
    ShowsSame d d' := by
  have hd' : d'.Opened := fun n hn => same ▸ hd n hn
  have hrelations : d'.relationNames.Perm d.relationNames := by
    refine (List.perm_ext_iff_of_nodup d'.nodup_relationNames d.nodup_relationNames).2 fun n => ?_
    rw [mem_relationNames, mem_relationNames, same]
  have hconstraints : d'.constraintNames.Perm d.constraintNames := by
    refine hd'.constraintNames_perm.trans ?_
    rw [same]
    exact hd.constraintNames_perm.symm
  refine ⟨fun _ => Store.narrow_eq_of_perm hrelations,
    fun _ => Store.narrow_eq_of_perm hconstraints, fun n => ?_, fun n => ?_⟩
  · rw [hd'.identifiers_eq, hd.identifiers_eq, same]
  · rw [hd'.constraint?_eq, hd.constraint?_eq, same]

/-- **The catalogs are out of reach.**  Let the database of any engine be taken into use, whatever
it holds, and be asked whatever there is to ask.  Whichever requests it has rejected and whichever
scripts have been refused: with no pattern does it list a catalog.  It refuses a well-formed
relation with the name of one, and then holds and shows the same as before.  And it rejects a
constraint, of whatever name, that names one among its relations, and is the same database as
before. -/
theorem catalogs_out_of_reach (medium : Medium) (engine : δ) (start : Database δ)
    (hstart : connect medium engine = .ok start) (qs : List Request) :
    (∀ regex pattern listed,
      Store.relationNames regex (Store.afterAll start qs) pattern = .ok listed →
        identifierCatalog ∉ listed ∧ constraintCatalog ∉ listed) ∧
    (∀ r : Relation, r.name = identifierCatalog ∨ r.name = constraintCatalog → r.WellFormed →
      Store.answer (Store.afterAll start qs) (.relation r) = .error .refused ∧
      (Store.afterAll start (qs ++ [.relation r])).contents =
        (Store.afterAll start qs).contents ∧
      ShowsSame (Store.afterAll start qs) (Store.afterAll start (qs ++ [.relation r]))) ∧
    ∀ k : Constraint,
      (∃ x ∈ k.mentions, x.1 = identifierCatalog ∨ x.1 = constraintCatalog) →
      (∃ e, (Store.view (Store.afterAll start qs)).check (.constraint k) = .error e ∧
        Store.answer (Store.afterAll start qs) (.constraint k) = .error e) ∧
      Store.afterAll start (qs ++ [.constraint k]) = Store.afterAll start qs := by
  have hcatalog (n : String) :
      isCatalog n = true ↔ n = identifierCatalog ∨ n = constraintCatalog := by
    rw [isCatalog, Bool.or_eq_true, beq_iff_eq, beq_iff_eq]
  have hopened := (opened_of_connect hstart).afterAll qs
  simp only [Store.afterAll_concat]
  generalize Store.afterAll start qs = d at hopened ⊢
  refine ⟨fun regex pattern listed hlisted => ?_, fun r hname hr => ?_, fun k hk => ?_⟩
  · have hnot : ∀ n, isCatalog n = true → n ∉ listed := by
      intro n hn hmem
      obtain ⟨-, hshown⟩ := mem_relationNames.1 (Store.mem_of_narrow hlisted hmem)
      cases hn.symm.trans hshown
    exact ⟨hnot _ ((hcatalog _).2 (.inl rfl)), hnot _ ((hcatalog _).2 (.inr rfl))⟩
  · have hn := (hcatalog r.name).2 hname
    obtain ⟨hrefused, same⟩ :=
      (d.replies (.relation r)).of_stored (check_of_isCatalog hn hr) (hopened _ hn)
    exact ⟨hrefused, same, .of_contents_eq hopened same⟩
  · simp only [← hcatalog] at hk
    obtain ⟨e, he⟩ := exists_check_error_of_mentions (d := d) hk
    exact ⟨⟨e, he, Store.answer_of_check_error he⟩, Store.after_of_check_error he⟩

/-- A relation that is called like the catalog of identifiers and has an identifier of its own. -/
def impostor : Relation :=
  ⟨identifierCatalog, [⟨"relation", .string⟩], .ofList [(1, ["relation"])]⟩

/-- A reference to the catalog of constraints. -/
def intrusion : Association :=
  ⟨"R1", ⟨"Party", ["Name"], .zeroOrOne⟩, ⟨constraintCatalog, ["name"], .exactlyOne⟩⟩

/-- What a database has been asked before. -/
def guests : List Request :=
  [.relation ⟨"Party", [⟨"Name", .string⟩], .ofList [(1, ["Name"])]⟩, .relation impostor]

theorem catalogs_out_of_reach_guests :
    impostor.WellFormed ∧
    Store.answer (Store.afterAll (⟨.memory, Tables.fresh⟩ : Database Tables) guests)
      (.relation impostor) = .error .refused ∧
    ShowsSame (Store.afterAll (⟨.memory, Tables.fresh⟩ : Database Tables) guests)
      (Store.afterAll (⟨.memory, Tables.fresh⟩ : Database Tables)
        (guests ++ [.relation impostor])) ∧
    Store.answer (Store.afterAll (⟨.memory, Tables.fresh⟩ : Database Tables) guests)
      (.constraint (.association intrusion)) ≠ .ok () ∧
    ∃ listed, Store.relationNames Regex.standard
      (Store.afterAll (⟨.memory, Tables.fresh⟩ : Database Tables) guests) (some "*") =
        .ok listed ∧ "Party" ∈ listed ∧ identifierCatalog ∉ listed := by
  obtain ⟨hlists, hrelation, hconstraint⟩ := catalogs_out_of_reach .memory Tables.empty
    ⟨.memory, Tables.fresh⟩ Tables.connect_empty guests
  have hwell : impostor.WellFormed :=
    (View.checkRelation_eq_ok_iff (v := Catalog.empty.view)).1 (by decide +kernel) |>.2
  obtain ⟨hrefused, -, hsame⟩ := hrelation impostor (.inl rfl) hwell
  obtain ⟨⟨e, -, he⟩, -⟩ := hconstraint (.association intrusion)
    ⟨(constraintCatalog, ["name"]), by simp [Constraint.mentions, intrusion], .inr rfl⟩
  have hselect : Store.select Regex.standard (Store.relations
      (Store.afterAll (⟨.memory, Tables.fresh⟩ : Database Tables) guests)) (some "*") =
        .ok ["Party"] := by
    decide +kernel
  have hlisted : Store.relationNames Regex.standard
      (Store.afterAll (⟨.memory, Tables.fresh⟩ : Database Tables) guests) (some "*") =
        .ok ["Party"] := by
    rw [Store.relationNames, Store.narrow, hselect]
    exact congrArg Except.ok (List.mergeSort_singleton "Party")
  refine ⟨hwell, hrefused, hsame, by rw [he]; simp, _, hlisted, by simp, ?_⟩
  exact (hlists _ _ _ hlisted).1

end Database

end ClassSchema
