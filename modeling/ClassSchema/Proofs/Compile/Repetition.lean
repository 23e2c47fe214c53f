import ClassSchema.Proofs.Compile.Acceptance
import ClassSchema.Proofs.Compile.Population

/-
# Compiling a model again

A model that has been compiled into a catalog cannot be compiled into it once more, and the attempt
leaves the catalog as it is (`compile_again`).  The first class that is not imported meets its own
relation, and nothing comes before it but imported classes, which ask for nothing.  Only a model in
which all classes are imported can be compiled again; it has no effect the first time either, since
no relationship is due where no class is declared (`requests_of_imported`).
-/

namespace ClassSchema

open Model Schema OrderedMap Outcome

/-- The first class that is not imported. -/
def firstOwn? (ss : List Subsystem) : Option Model.Class :=
  (ss.flatMap (·.classes)).find? fun c => !c.isImported

section

variable {ss : List Subsystem}

lemma map_snd_materialized (ss : List Subsystem) :
    (materialized ss).map (·.2) = (ss.flatMap (·.classes)).filter fun c => !c.isImported := by
  rw [materialized, List.map_flatMap, List.filter_flatMap]
  refine List.flatMap_congr fun s _ => ?_
  simp [ownClasses, Function.comp_def]

lemma head?_materialized (ss : List Subsystem) :
    (materialized ss).head?.map (·.2) = firstOwn? ss := by
  rw [firstOwn?, ← List.head?_filter, ← map_snd_materialized, List.head?_map]

lemma materialized_eq_nil_of_firstOwn? (h : firstOwn? ss = none) : materialized ss = [] := by
  rw [← head?_materialized, Option.map_eq_none_iff] at h
  exact List.head?_eq_none_iff.1 h

lemma exists_materialized_eq_cons {c : Model.Class} (h : firstOwn? ss = some c) :
    ∃ domain rest, materialized ss = (domain, c) :: rest := by
  rw [← head?_materialized, Option.map_eq_some_iff] at h
  obtain ⟨⟨domain, c'⟩, hhead, rfl⟩ := h
  exact ⟨domain, _, (List.eq_cons_of_mem_head? hhead)⟩

end

/-! ### Nothing to do -/

namespace Plan

variable {types : TypeDictionary} {ss : List Subsystem}

/-- A relationship needs a class that is declared. -/
lemma isDue_of_materialized_eq_nil (h : materialized ss = []) (x : Relationship) :
    isDue ss x = false := by
  have hdeclares : ∀ n, declares ss n = false := by
    intro n
    rw [declares, h, List.any_nil]
  cases x <;> simp [isDue, hdeclares]

/-- A model in which all classes are imported asks for nothing. -/
lemma requests_of_imported (h : firstOwn? ss = none) : requests types ss = [] := by
  have hnil := materialized_eq_nil_of_firstOwn? h
  have hdue : (ss.flatMap (·.relationships)).filter (isDue ss) = [] := by
    rw [List.filter_eq_nil_iff]
    intro x _
    simp [isDue_of_materialized_eq_nil hnil x]
  simp [requests, relations, constraints, hnil, hdue]

/-! ### A relation that is there already -/

lemma carryOut_of_stored {c : Catalog} {r : Relation} (h : c.relations.contains r.name = true) :
    carryOut (.ok (.relation r)) c = .error (.rejected (.duplicateRelation r.name)) := by
  have hview : c.view.hasRelation r.name = true := h
  have hcheck : c.view.check (.relation r) = .error (.duplicateRelation r.name) := by
    rw [View.check, View.checkRelation, if_pos hview]
  rw [carryOut, ok_bind, Store.create_of_check_error hcheck, mapError_error]

end Plan

/-- **Compiling again changes nothing.**  When a compilation has ended well, the same compilation
into what has come out stops at the first class that is not imported, since its relation is there
already.  If there is no such class, it ends as it has ended before. -/
theorem compile_again (types : TypeDictionary) (start : Catalog) (ss : List Subsystem)
    (done : Compilation Catalog) (h : compile types start ss = .ok done) :
    (∀ c, firstOwn? ss = some c → compile types done.store ss =
      .error ⟨.build (.rejected (.duplicateRelation (unspaced c.name))), done.store⟩) ∧
    (firstOwn? ss = none → compile types done.store ss = .ok done) := by
  refine ⟨fun c hc => ?_, fun hnone => ?_⟩
  · obtain ⟨domain, rest, hss⟩ := exists_materialized_eq_cons hc
    have hmem : (domain, c) ∈ materialized ss := hss ▸ List.mem_cons_self
    have hstored := ((stored_of_compile h).1 _ hmem).2.2.2
    -- the types are known as before, so the request is the one that was accepted
    have hstep : Plan.classStep types c = .ok (.relation (Plan.relation types c)) :=
      Plan.classStep_eq_ok_iff.2 ⟨(compilable_of_compile h).typed _ hmem, rfl⟩
    refine compile_of_execute_error ?_
    rw [plan, hss, Plan.classSteps, List.map_cons, List.cons_append, Plan.execute, hstep,
      Plan.carryOut_of_stored (contains_iff.2 ⟨_, hstored⟩)]
    rfl
  · have hstore : done.store = start := by
      rw [store_of_compile h, Plan.requests_of_imported hnone, Catalog.addAll_nil]
    rw [hstore, h]

/-- The airport again: a class that is imported comes first. -/
def terminal : List Subsystem := [{ hangar with classes := hangar.classes.reverse }, crew]

theorem compile_again_terminal :
    ∃ done, compile ⟨.ofList [("name", .string)]⟩ Catalog.empty terminal = .ok done ∧
      compile ⟨.ofList [("name", .string)]⟩ done.store terminal =
        .error ⟨.build (.rejected (.duplicateRelation "Aircraft_Type")), done.store⟩ := by
  have hok : (compile ⟨.ofList [("name", .string)]⟩ Catalog.empty terminal).toBool = true := by
    decide +kernel
  obtain ⟨done, h⟩ := exists_ok_of_toBool hok
  obtain ⟨hagain, -⟩ := compile_again _ _ _ done h
  have hfirst : (firstOwn? terminal).map (unspaced ·.name) = some "Aircraft_Type" := by
    decide +kernel
  obtain ⟨c, hc, hname⟩ := Option.map_eq_some_iff.1 hfirst
  exact ⟨done, h, hname ▸ hagain c hc⟩

end ClassSchema
