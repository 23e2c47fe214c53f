import ClassSchema.Proofs.Compile.Report
import ClassSchema.Proofs.Store.Backend
import ClassSchema.Proofs.Store.Tables

/-
# What is reported is there

A report names the relations and constraints that a compilation has created.  The constraints are
there afterwards, and so are the relations in a catalog.  A database keeps a relation only under an
identifier of its engine, yet every relation whose script has been taken is reported as created; a
class whose name begins with a space gets a relation that begins with an underscore, which is
temporary.  So of the names that are reported just those are there that the store keeps
(`reported_is_present`).

The point of the proof is that nothing else can go wrong in between: what a request makes true, and
no other makes false, is true at the end (`Plan.execute_reaches`).
-/

namespace ClassSchema

open Model Schema Outcome

namespace Plan

/-! ### The steps of a plan -/

section

variable {σ : Type} [Store σ] {xs : List Step} {s s' : σ}

lemma exists_request_of_execute (h : execute xs s = .ok s') {x : Step} (hx : x ∈ xs) :
    ∃ q, x = .ok q := by
  induction xs generalizing s with
  | nil => cases hx
  | cons y rest ih =>
    obtain ⟨q, mid, rfl, -, hrest⟩ := execute_cons_eq_ok_iff.1 h
    rcases List.mem_cons.1 hx with rfl | hx
    · exact ⟨q, rfl⟩
    · exact ih hrest hx

lemma execute_preserves {I : σ → Prop}
    (hkeep : ∀ s q s', I s → Store.create s q = .ok s' → I s') (hs : I s)
    (h : execute xs s = .ok s') : I s' := by
  refine (execute_keeps hs fun x _ t t' ht hx => ?_).1 s' h
  obtain ⟨q, -, hq⟩ := carryOut_eq_ok_iff.1 hx
  exact hkeep t q t' ht hq

/-- What one of the requests makes true, and none of them makes false, is true at the end.  This may
depend on an invariant `I`. -/
lemma execute_reaches {I P : σ → Prop} {q₀ : Request}
    (hkeep : ∀ s q s', I s → Store.create s q = .ok s' → I s')
    (hstep : ∀ s q s', I s → Store.create s q = .ok s' → P s ∨ q = q₀ → P s')
    (hs : I s) (h : execute xs s = .ok s') (hq : P s ∨ .ok q₀ ∈ xs) : P s' := by
  induction xs generalizing s with
  | nil =>
    obtain rfl := Except.ok.inj h
    exact hq.resolve_right List.not_mem_nil
  | cons x rest ih =>
    obtain ⟨q, mid, rfl, hcreate, hrest⟩ := execute_cons_eq_ok_iff.1 h
    refine ih (hkeep s q mid hs hcreate) hrest ?_
    rw [List.mem_cons, Except.ok.injEq, eq_comm (a := q₀)] at hq
    rcases hq with hs' | hq | hq
    · exact .inl (hstep s q mid hs hcreate (.inl hs'))
    · exact .inl (hstep s q mid hs hcreate (.inr hq))
    · exact .inr hq

end

variable {δ : Type} [Engine δ] [LawfulEngine δ] {b b' : Backend δ} {xs : List Step}

lemma opened_of_execute (hb : b.Opened) (h : execute xs b = .ok b') : b'.Opened :=
  execute_preserves (fun _ _ _ => Backend.opened_of_create) hb h

lemma keeps_of_execute (h : execute xs b = .ok b') : b'.Keeps = b.Keeps :=
  execute_preserves (I := fun s => s.Keeps = b.Keeps)
    (fun _ _ _ hs hq => (Backend.keeps_of_create hq).trans hs) rfl h

/-- Of the relations that have been asked for, those are there at the end that are kept. -/
lemma hasRelation_of_execute (hb : b.Opened) (h : execute xs b = .ok b') {r : Relation}
    (hr : .ok (.relation r) ∈ xs) :
    (Store.view b').hasRelation r.name = true ↔ b.Keeps r.name := by
  constructor
  · intro hthere
    rw [← keeps_of_execute h]
    exact Backend.keeps_of_hasRelation hthere
  · intro hkeeps
    refine execute_reaches (I := fun s => s.Opened ∧ s.Keeps = b.Keeps)
      (P := fun s => (Store.view s).hasRelation r.name = true) ?_ ?_ ⟨hb, rfl⟩ h (.inr hr)
    · rintro s q s' ⟨hs, hsame⟩ hq
      exact ⟨Backend.opened_of_create hs hq, (Backend.keeps_of_create hq).trans hsame⟩
    · rintro s q s' ⟨hs, hsame⟩ hq hn
      exact Backend.hasRelation_of_create hs hq
        (hn.imp_right fun heq => ⟨r, heq, rfl, hsame ▸ hkeeps⟩)

/-- The constraints that have been asked for are there at the end. -/
lemma hasConstraint_of_execute (hb : b.Opened) (h : execute xs b = .ok b') {k : Constraint}
    (hk : .ok (.constraint k) ∈ xs) : (Store.view b').hasConstraint k.name = true :=
  execute_reaches (I := fun s => s.Opened)
    (P := fun s => (Store.view s).hasConstraint k.name = true)
    (fun _ _ _ hs hq => Backend.opened_of_create hs hq)
    (fun _ _ _ hs hq hn => Backend.hasConstraint_of_create hs hq
      (hn.imp_right fun heq => ⟨k, heq, rfl⟩)) hb h (.inr hk)

end Plan

/-! ### The report -/

section

variable {σ : Type} [Store σ] {types : TypeDictionary} {store : σ} {ss : List Subsystem}
  {done : Compilation σ}

/-- A relation that is reported has been asked for. -/
lemma exists_relation_of_reported (h : compile types store ss = .ok done) {n : String}
    (hn : n ∈ done.report.relations) :
    ∃ r, .ok (.relation r) ∈ plan types ss ∧ r.name = n := by
  rw [report_of_compile h] at hn
  dsimp only at hn
  rw [filterMap_relation?_classEntry] at hn
  obtain ⟨m, hm, rfl⟩ := List.mem_map.1 hn
  have hmem : Plan.classStep types m.2 ∈ plan types ss :=
    List.mem_append_left _ (List.mem_map_of_mem hm)
  obtain ⟨q, hq⟩ := Plan.exists_request_of_execute (execute_of_compile h) hmem
  obtain ⟨-, rfl⟩ := Plan.classStep_eq_ok_iff.1 hq
  exact ⟨_, hq ▸ hmem, rfl⟩

/-- A constraint that is reported has been asked for. -/
lemma exists_constraint_of_reported (h : compile types store ss = .ok done)
    {e : CreatedConstraint} (he : e ∈ done.report.constraints) :
    ∃ k, .ok (.constraint k) ∈ plan types ss ∧ k.name = e.name := by
  rw [report_of_compile h] at he
  dsimp only at he
  rw [filterMap_constraint?_relationshipEntries] at he
  obtain ⟨k, hk, rfl⟩ := List.mem_map.1 he
  refine ⟨k, List.mem_append_right _ ?_, rfl⟩
  rw [Plan.constraintSteps_eq]
  exact List.mem_map_of_mem hk

end

/-- **What is reported is there, if it is kept.**  Let a compilation into a catalog, or into a
database that has been taken into use, end well.  Then of the relations that it reports just those
are there and listed that the store keeps: in a catalog all of them, in a database those that are
called by an identifier of its engine.  The constraints that it reports are all there and listed,
and the database is ready for the next compilation. -/
theorem reported_is_present {δ : Type} [Engine δ] [LawfulEngine δ] (regex : Text.Regex.Library)
    (types : TypeDictionary) (start : Backend δ) (ss : List Subsystem)
    (done : Compilation (Backend δ)) (hstart : start.Opened)
    (h : compile types start ss = .ok done) :
    (∀ n ∈ done.report.relations,
      ((Store.view done.store).hasRelation n = true ↔ start.Keeps n) ∧
      (done.store.ListsRelation regex n ↔ start.Keeps n)) ∧
    (∀ e ∈ done.report.constraints, (Store.view done.store).hasConstraint e.name = true ∧
      done.store.ListsConstraint regex e.name) ∧
    done.store.Opened := by
  have hplan := execute_of_compile h
  have hopened := Plan.opened_of_execute hstart hplan
  refine ⟨fun n hn => ?_, fun e he => ?_, hopened⟩
  · obtain ⟨r, hr, rfl⟩ := exists_relation_of_reported h hn
    have hafter := Plan.hasRelation_of_execute hstart hplan hr
    exact ⟨hafter, Backend.listsRelation_iff.trans hafter⟩
  · obtain ⟨k, hk, hname⟩ := exists_constraint_of_reported h he
    have hafter := Plan.hasConstraint_of_execute hstart hplan hk
    rw [hname] at hafter
    exact ⟨hafter, (Backend.listsConstraint_iff hopened).2 hafter⟩

/-- A subsystem with a class whose name begins with a space, and two classes that are associated. -/
def desk : Subsystem where
  name := "Desk"
  domain := "Press"
  classes :=
    [⟨" Draft", none, [⟨"Title", some "name", [⟨1, false⟩]⟩]⟩,
      ⟨"Journal", none, [⟨"Name", some "name", [⟨1, false⟩]⟩]⟩,
      ⟨"Paper", none,
        [⟨"Title", some "name", [⟨1, false⟩]⟩, ⟨"Printed in", some "name", []⟩]⟩]
  relationships :=
    [.association ⟨"R1", ⟨⟨"Paper", .zeroOneOrMany, none⟩, ⟨"Journal", .exactlyOne, none⟩⟩,
      ⟨⟨"Paper", ["Printed in"]⟩, ⟨"Journal", ["Name"]⟩⟩⟩]

lemma exists_compile_desk :
    ∃ done, compile ⟨.ofList [("name", .string)]⟩
        (Backend.database (⟨.memory, Tables.fresh⟩ : Database Tables)) [desk] = .ok done ∧
      done.report.relations = ["_Draft", "Journal", "Paper"] ∧
      done.report.constraints = [⟨"R1", .association⟩] ∧
      Store.relations done.store = ["Journal", "Paper"] := by
  have hreport : (compile ⟨.ofList [("name", .string)]⟩
      (Backend.database (⟨.memory, Tables.fresh⟩ : Database Tables)) [desk]).toOption.map
        (fun done =>
          (done.report.relations, done.report.constraints, Store.relations done.store)) =
      some (["_Draft", "Journal", "Paper"], [⟨"R1", .association⟩], ["Journal", "Paper"]) := by
    decide +kernel
  obtain ⟨done, hdone, hlists⟩ := exists_ok_of_toOption hreport
  simp only [Prod.mk.injEq] at hlists
  exact ⟨done, hdone, hlists⟩

/-- Journals and their association are there, drafts are not. -/
theorem reported_is_present_desk :
    ∃ done, compile ⟨.ofList [("name", .string)]⟩
        (Backend.database (⟨.memory, Tables.fresh⟩ : Database Tables)) [desk] = .ok done ∧
      (Store.view done.store).hasRelation "Journal" = true ∧
      ¬ done.store.ListsRelation Text.Regex.standard "_Draft" ∧
      done.store.ListsConstraint Text.Regex.standard "R1" := by
  obtain ⟨done, h, hrelations, hconstraints, -⟩ := exists_compile_desk
  have hopened : (⟨.memory, Tables.fresh⟩ : Database Tables).Opened :=
    Database.opened_of_connect Tables.connect_empty
  obtain ⟨hrelation, hconstraint, -⟩ :=
    reported_is_present Text.Regex.standard _ (.database ⟨.memory, Tables.fresh⟩) _ done hopened h
  refine ⟨done, h, ?_, ?_, ?_⟩
  · exact (hrelation "Journal" (by simp [hrelations])).1.2
      (LawfulEngine.isName_of_isWord (by decide +kernel))
  · rw [(hrelation "_Draft" (by simp [hrelations])).2]
    exact LawfulEngine.not_isName_of_underscore (by decide +kernel)
  · exact (hconstraint ⟨"R1", .association⟩ (by simp [hconstraints])).2

/-- Not all that is reported is there: drafts are reported. -/
theorem exists_reported_not_present :
    ∃ done, compile ⟨.ofList [("name", .string)]⟩
        (Backend.database (⟨.memory, Tables.fresh⟩ : Database Tables)) [desk] = .ok done ∧
      "_Draft" ∈ done.report.relations ∧ (Store.view done.store).hasRelation "_Draft" = false ∧
      ¬ done.store.ListsRelation Text.Regex.standard "_Draft" := by
  obtain ⟨done, h, hrelations, -, hstored⟩ := exists_compile_desk
  have habsent : ¬ done.store.ListsRelation Text.Regex.standard "_Draft" := by
    intro hlisted
    have hmem := Store.exists_narrow_none_iff.1 hlisted
    simp [hstored] at hmem
  refine ⟨done, h, by simp [hrelations], ?_, habsent⟩
  rwa [Backend.listsRelation_iff, Bool.not_eq_true] at habsent

end ClassSchema
