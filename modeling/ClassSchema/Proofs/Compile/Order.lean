import ClassSchema.Proofs.Compile.Population
import ClassSchema.Proofs.Compile.Report
import Mathlib.Data.List.Perm.Basic

/-
# The order of a model

A compilation goes through the subsystems in order, and through the classes and the relationships
of each in order.  None of this matters for what comes out of it (`compile_reordered`): a model in
another order (`Reordered`) is compiled if and only if the model itself is, into the same relations
and constraints, and reported and recorded alike.  The proof compares no two runs.  Whether a
compilation ends well has been said without an order (`Plan.Compilable`), and so has what it
reports (`report_of_compile`) and records (`population_of_compile`); all that is left to see is
that the lists of which this is said are reordered with the model (`Reordered.flatMap_perm`).
-/

namespace ClassSchema

open Model Schema

/-- The same subsystem with its classes and its relationships in another order. -/
structure Model.Subsystem.Reordered (s t : Subsystem) : Prop where
  name_eq : t.name = s.name
  domain_eq : t.domain = s.domain
  classes_perm : s.classes.Perm t.classes
  relationships_perm : s.relationships.Perm t.relationships

/-- The same subsystems in another order, each of them in another order inside. -/
def Reordered (ss ts : List Subsystem) : Prop :=
  ∃ us, ss.Perm us ∧ List.Forall₂ Subsystem.Reordered us ts

namespace Reordered

variable {ss ts : List Subsystem}

/-- What is listed subsystem by subsystem is reordered with the model. -/
lemma flatMap_perm {α : Type} {f : Subsystem → List α}
    (hf : ∀ s t : Subsystem, s.Reordered t → (f s).Perm (f t)) (h : Reordered ss ts) :
    (ss.flatMap f).Perm (ts.flatMap f) := by
  obtain ⟨us, hp, hall⟩ := h
  refine (hp.flatMap_right f).trans ?_
  clear hp
  induction hall with
  | nil => exact .nil
  | cons hst _ ih =>
    rw [List.flatMap_cons, List.flatMap_cons]
    exact (hf _ _ hst).append ih

lemma classes_perm (h : Reordered ss ts) :
    (ss.flatMap (·.classes)).Perm (ts.flatMap (·.classes)) :=
  h.flatMap_perm fun _ _ hst => hst.classes_perm

lemma relationships_perm (h : Reordered ss ts) :
    (ss.flatMap (·.relationships)).Perm (ts.flatMap (·.relationships)) :=
  h.flatMap_perm fun _ _ hst => hst.relationships_perm

lemma relationshipsOf_perm (h : Reordered ss ts) :
    (relationshipsOf ss).Perm (relationshipsOf ts) :=
  h.flatMap_perm fun _ _ hst => hst.name_eq ▸ hst.relationships_perm.map _

lemma materialized_perm (h : Reordered ss ts) : (materialized ss).Perm (materialized ts) :=
  h.flatMap_perm fun _ _ hst => hst.domain_eq ▸ (hst.classes_perm.filter _).map _

/-- The same classes are declared. -/
lemma declares_eq (h : Reordered ss ts) : Plan.declares ss = Plan.declares ts := by
  funext n
  rw [Bool.eq_iff_iff, Plan.declares, Plan.declares, List.any_eq_true, List.any_eq_true]
  exact exists_congr fun m => and_congr_left' h.materialized_perm.mem_iff

lemma relations_perm (h : Reordered ss ts) (types : TypeDictionary) :
    (Plan.relations types ss).Perm (Plan.relations types ts) :=
  h.materialized_perm.map _

lemma constraints_perm (h : Reordered ss ts) :
    (Plan.constraints ss).Perm (Plan.constraints ts) := by
  rw [Plan.constraints, Plan.constraints, Plan.isDue_congr h.declares_eq]
  exact (h.relationships_perm.filter _).filterMap _

lemma relationshipEntries_perm (h : Reordered ss ts) :
    (relationshipEntries ss).Perm (relationshipEntries ts) := by
  have hentry : relationshipEntry ss = relationshipEntry ts := by
    funext subsystem x
    rw [relationshipEntry, relationshipEntry, h.declares_eq]
  rw [relationshipEntries, relationshipEntries, hentry]
  exact h.relationshipsOf_perm.map _

end Reordered

/-- A model can be compiled in any order if it can be compiled in one. -/
lemma Plan.Compilable.perm {types : TypeDictionary} {c : Catalog} {ss ts : List Subsystem}
    (h : Plan.Compilable types c ss) (hm : (materialized ss).Perm (materialized ts))
    (hk : (Plan.constraints ss).Perm (Plan.constraints ts)) : Plan.Compilable types c ts where
  typed m hmem := h.typed m (hm.mem_iff.2 hmem)
  relations := h.relations.perm (hm.map _)
  constraints := by
    refine (h.constraints.perm hk).congr ?_ ?_
    · exact Catalog.relations_addAll_perm h.relations (hm.map _)
    · rw [Catalog.constraints_addAll_relations, Catalog.constraints_addAll_relations]

/-- Two compilations have ended alike: the same relations and constraints are stored, and what is
reported and recorded differs in its order at most. -/
structure Compilation.Alike (done done' : Compilation Catalog) : Prop where
  relations_eq : done.store.relations = done'.store.relations
  constraints_eq : done.store.constraints = done'.store.constraints
  history_perm : done.store.history.Perm done'.store.history
  reported_relations : done.report.relations.Perm done'.report.relations
  reported_constraints : done.report.constraints.Perm done'.report.constraints
  deferred : done.report.deferred.Perm done'.report.deferred
  ordinal : done.report.ordinal.Perm done'.report.ordinal
  skippedImports : done.report.skippedImports.Perm done'.report.skippedImports
  attributes : done.population.attributes.Perm done'.population.attributes
  identifiers : done.population.identifiers.Perm done'.population.identifiers
  identifierAttributes :
    done.population.identifierAttributes.Perm done'.population.identifierAttributes

lemma alike_of_reordered {types : TypeDictionary} {start : Catalog} {ss ts : List Subsystem}
    {done done' : Compilation Catalog} (h : Reordered ss ts)
    (hs : compile types start ss = .ok done) (ht : compile types start ts = .ok done') :
    done.Alike done' where
  relations_eq := by
    rw [store_of_compile hs, store_of_compile ht, Plan.relations_addAll_requests,
      Plan.relations_addAll_requests]
    exact Catalog.relations_addAll_perm (compilable_of_compile hs).relations
      (h.relations_perm types)
  constraints_eq := by
    rw [store_of_compile hs, store_of_compile ht, Plan.constraints_addAll_requests,
      Plan.constraints_addAll_requests]
    -- the names of the constraints differ, since the model can be compiled
    exact OrderedMap.foldl_insert_perm h.constraints_perm
      (compilable_of_compile hs).constraints.fileable.names_nodup _
  history_perm := by
    rw [store_of_compile hs, store_of_compile ht, Catalog.history_addAll, Catalog.history_addAll]
    exact (((h.relations_perm types).map _).append (h.constraints_perm.map _)).append_left _
  reported_relations := by
    rw [report_of_compile hs, report_of_compile ht]
    exact (h.classes_perm.map _).filterMap _
  reported_constraints := by
    rw [report_of_compile hs, report_of_compile ht]
    exact h.relationshipEntries_perm.filterMap _
  deferred := by
    rw [report_of_compile hs, report_of_compile ht]
    exact h.relationshipEntries_perm.filterMap _
  ordinal := by
    rw [report_of_compile hs, report_of_compile ht]
    exact h.relationshipEntries_perm.filterMap _
  skippedImports := by
    rw [report_of_compile hs, report_of_compile ht]
    exact (h.classes_perm.map _).filterMap _
  attributes := by
    rw [(population_of_compile hs).1, (population_of_compile ht).1, Population.addAll_eq,
      Population.addAll_eq]
    exact h.materialized_perm.flatMap_right _
  identifiers := by
    rw [(population_of_compile hs).1, (population_of_compile ht).1, Population.addAll_eq,
      Population.addAll_eq]
    exact h.materialized_perm.flatMap_right _
  identifierAttributes := by
    rw [(population_of_compile hs).1, (population_of_compile ht).1, Population.addAll_eq,
      Population.addAll_eq]
    exact h.materialized_perm.flatMap_right _

/-- **Order independence.**  A model in another order is compiled if and only if the model itself
is, and if they are, the two compilations end alike. -/
theorem compile_reordered (types : TypeDictionary) (start : Catalog) (ss ts : List Subsystem)
    (h : Reordered ss ts) :
    ((∃ done, compile types start ss = .ok done) ↔ ∃ done, compile types start ts = .ok done) ∧
    ∀ done done', compile types start ss = .ok done → compile types start ts = .ok done' →
      done.Alike done' := by
  refine ⟨?_, fun done done' hs ht => alike_of_reordered h hs ht⟩
  rw [exists_compile_iff, exists_compile_iff]
  exact ⟨fun hc => hc.perm h.materialized_perm h.constraints_perm,
    fun hc => hc.perm h.materialized_perm.symm h.constraints_perm.symm⟩

/-- The airport, first with the relationships of `crew` before the classes that they lead to, then
the other way round. -/
theorem compile_reordered_airport :
    ∃ done done', compile ⟨.ofList [("name", .string)]⟩ Catalog.empty [crew, hangar] = .ok done ∧
      compile ⟨.ofList [("name", .string)]⟩ Catalog.empty
        [{ hangar with classes := hangar.classes.reverse },
          { crew with relationships := crew.relationships.reverse }] = .ok done' ∧
      done.Alike done' := by
  have h : Reordered [crew, hangar]
      [{ hangar with classes := hangar.classes.reverse },
        { crew with relationships := crew.relationships.reverse }] :=
    ⟨[hangar, crew], .swap _ _ _, .cons ⟨rfl, rfl, (List.reverse_perm _).symm, .refl _⟩
      (.cons ⟨rfl, rfl, .refl _, (List.reverse_perm _).symm⟩ .nil)⟩
  obtain ⟨hiff, halike⟩ := compile_reordered ⟨.ofList [("name", .string)]⟩ Catalog.empty _ _ h
  have hok : (compile ⟨.ofList [("name", .string)]⟩ Catalog.empty
      [crew, hangar]).toBool = true := by decide +kernel
  cases hs : compile ⟨.ofList [("name", .string)]⟩ Catalog.empty [crew, hangar] with
  | error stop => rw [hs] at hok; cases hok
  | ok done =>
    obtain ⟨done', ht⟩ := hiff.1 ⟨done, hs⟩
    exact ⟨done, done', rfl, ht, halike done done' hs ht⟩

end ClassSchema
